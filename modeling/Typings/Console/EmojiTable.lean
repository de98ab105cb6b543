/-!
# Table of emoji names

Each line holds rows that are separated by blanks. A row lists names, and after the equals sign
what they stand for.
-/

namespace Typings.Console

/-- The names of emoji and their code points in hexadecimal. A name after a tilde has skin tones. -/
def emojiRows : List String :=
  ["1st_place_medal=1F947 2nd_place_medal=1F948 3rd_place_medal=1F949",
   "ab_button_(blood_type),ab=1F18E atm_sign,atm=1F3E7 a_button_(blood_type),a=1F170",
   "aquarius=2652 aries=2648 back_arrow,back=1F519 b_button_(blood_type),b=1F171",
   "cl_button,cl=1F191 cool_button,cool=1F192 cancer=264B capricorn=2651 christmas_tree=1F384",
   "cocos_(keeling)_islands,flag_for_cocos__islands=1F1E8-1F1E8",
   "congo_-_brazzaville,flag_for_congo____brazzaville=1F1E8-1F1EC",
   "congo_-_kinshasa,flag_for_congo____kinshasa=1F1E8-1F1E9",
   "czechia,flag_for_czech_republic=1F1E8-1F1FF end_arrow,end=1F51A",
   "england=1F3F4-E0067-E0062-E0065-E006E-E0067-E007F free_button,free=1F193 gemini=264A",
   "guinea-bissau,flag_for_guinea__bissau=1F1EC-1F1FC",
   "hong_kong_sar_china,flag_for_hong_kong=1F1ED-1F1F0 id_button,id=1F194",
   "japan,map_of_japan=1F5FE japanese_acceptable_button,accept=1F251",
   "japanese_application_button,u7533=1F238 japanese_bargain_button,ideograph_advantage=1F250",
   "japanese_castle=1F3EF japanese_congratulations_button,congratulations=3297",
   "japanese_discount_button,u5272=1F239 japanese_dolls,dolls=1F38E",
   "japanese_free_of_charge_button,u7121=1F21A japanese_here_button,koko=1F201",
   "japanese_monthly_amount_button,u6708=1F237 japanese_no_vacancy_button,u6e80=1F235",
   "japanese_not_free_of_charge_button,u6709=1F236 japanese_open_for_business_button,u55b6=1F23A",
   "japanese_passing_grade_button,u5408=1F234 japanese_post_office,post_office=1F3E3",
   "japanese_prohibited_button,u7981=1F232 japanese_reserved_button,u6307=1F22F",
   "japanese_secret_button,secret=3299 japanese_service_charge_button,sa=1F202",
   "japanese_symbol_for_beginner,beginner=1F530 japanese_vacancy_button,u7a7a=1F233 leo=264C",
   "libra=264E macau_sar_china,flag_for_macau=1F1F2-1F1F4 ~mrs._claus=1F936",
   "myanmar_(burma),flag_for_myanmar=1F1F2-1F1F2 new_button,new=1F195 ng_button,ng=1F196",
   "ok_button,ok=1F197 ~ok_hand=1F44C on!_arrow,on=1F51B o_button_(blood_type),o2=1F17E",
   "ophiuchus=26CE p_button,parking=1F17F pisces=2653 soon_arrow,soon=1F51C sos_button,sos=1F198",
   "sagittarius=2650 ~santa_claus,santa=1F385 scorpio,scorpius=264F",
   "scotland=1F3F4-E0067-E0062-E0073-E0063-E0074-E007F statue_of_liberty=1F5FD t-rex=1F996",
   "top_arrow,top=1F51D taurus=2649 timor-leste,flag_for_timor__leste=1F1F9-1F1F1",
   "tokyo_tower=1F5FC turkey=1F983 up!_button,up=1F199 united_nations=1F1FA-1F1F3",
   "vs_button,vs=1F19A virgo=264D wales=1F3F4-E0067-E0062-E0077-E006C-E0073-E007F abacus=1F9EE",
   "adhesive_bandage=1FA79 admission_tickets=1F39F ~adult=1F9D1 aerial_tramway=1F6A1",
   "airplane=2708 airplane_arrival,airplane_arriving=1F6EC airplane_departure=1F6EB",
   "alarm_clock=23F0 alembic=2697 alien=1F47D alien_monster,space_invader=1F47E ambulance=1F691",
   "american_football,football=1F3C8 amphora=1F3FA anchor=2693 anger_symbol,anger=1F4A2",
   "angry_face,angry=1F620 angry_face_with_horns,imp=1F47F anguished_face,anguished=1F627",
   "ant=1F41C antenna_bars,signal_strength=1F4F6 anxious_face_with_sweat,cold_sweat=1F630",
   "articulated_lorry=1F69B artist_palette,art=1F3A8 astonished_face,astonished=1F632",
   "atom_symbol=269B auto_rickshaw=1F6FA automobile,car,red_car=1F697 avocado=1F951 axe=1FA93",
   "~baby=1F476 ~baby_angel,angel=1F47C baby_bottle=1F37C baby_chick=1F424 baby_symbol=1F6BC",
   "~backhand_index_pointing_down,point_down=1F447 ~backhand_index_pointing_left,point_left=1F448",
   "~backhand_index_pointing_right,point_right=1F449 ~backhand_index_pointing_up,point_up_2=1F446",
   "bacon=1F953 badger=1F9A1 badminton,badminton_racquet_and_shuttlecock=1F3F8 bagel=1F96F",
   "baggage_claim=1F6C4 baguette_bread=1F956 balance_scale,scales=2696 bald=1F9B2",
   "bald_man=1F468-200D-1F9B2 bald_woman=1F469-200D-1F9B2 ballet_shoes=1FA70 balloon=1F388",
   "ballot_box_with_ballot=1F5F3 ballot_box_with_check=2611 banana=1F34C banjo=1FA95 bank=1F3E6",
   "bar_chart=1F4CA barber_pole,barber=1F488 baseball=26BE basket=1F9FA basketball=1F3C0",
   "bat=1F987 bathtub=1F6C1 battery=1F50B beach_with_umbrella=1F3D6",
   "beaming_face_with_smiling_eyes,grin=1F601 bear_face,bear=1F43B ~bearded_person=1F9D4",
   "beating_heart,heartbeat=1F493 bed=1F6CF beer_mug,beer=1F37A bell=1F514",
   "bell_with_slash,no_bell=1F515 bellhop_bell=1F6CE bento_box,bento=1F371 beverage_box=1F9C3",
   "bicycle,bike=1F6B2 bikini=1F459 billed_cap=1F9E2 biohazard,biohazard_sign=2623 bird=1F426",
   "birthday_cake,birthday=1F382 black_circle=26AB black_flag,waving_black_flag=1F3F4",
   "black_heart=1F5A4 black_large_square=2B1B",
   "black_medium-small_square,black_medium_small_square=25FE black_medium_square=25FC",
   "black_nib=2712 black_small_square=25AA black_square_button=1F532",
   "~blond-haired_man=1F471-200D-2642-FE0F ~blond-haired_person,person_with_blond_hair=1F471",
   "~blond-haired_woman=1F471-200D-2640-FE0F blossom=1F33C blowfish=1F421 blue_book=1F4D8",
   "blue_circle,large_blue_circle=1F535 blue_heart=1F499 blue_square=1F7E6 boar=1F417 bomb=1F4A3",
   "bone=1F9B4 bookmark=1F516 bookmark_tabs=1F4D1 books=1F4DA bottle_with_popping_cork=1F37E",
   "bouquet=1F490 bow_and_arrow=1F3F9 bowl_with_spoon=1F963 bowling=1F3B3 boxing_glove=1F94A",
   "~boy=1F466 brain=1F9E0 bread=1F35E ~breast-feeding=1F931 brick=1F9F1 ~bride_with_veil=1F470",
   "bridge_at_night=1F309 briefcase=1F4BC briefs=1FA72 bright_button,high_brightness=1F506",
   "broccoli=1F966 broken_heart=1F494 broom=1F9F9 brown_circle=1F7E4 brown_heart=1F90E",
   "brown_square=1F7EB bug=1F41B building_construction=1F3D7 bullet_train,bullettrain_front=1F685",
   "burrito=1F32F bus=1F68C bus_stop,busstop=1F68F bust_in_silhouette=1F464",
   "busts_in_silhouette=1F465 butter=1F9C8 butterfly=1F98B cactus=1F335",
   "calendar,tear-off_calendar=1F4C6 ~call_me_hand=1F919 camel,two-hump_camel=1F42B camera=1F4F7",
   "camera_with_flash=1F4F8 camping=1F3D5 candle=1F56F candy=1F36C canned_food=1F96B canoe=1F6F6",
   "card_file_box=1F5C3 card_index=1F4C7 card_index_dividers=1F5C2 carousel_horse=1F3A0",
   "carp_streamer,flags=1F38F carrot=1F955 castle,european_castle=1F3F0 cat,cat_face=1F431",
   "cat_face_with_tears_of_joy,joy_cat=1F639 cat_face_with_wry_smile,smirk_cat=1F63C chains=26D3",
   "chair=1FA91 chart_decreasing,chart_with_downwards_trend=1F4C9",
   "chart_increasing,chart_with_upwards_trend=1F4C8 chart_increasing_with_yen,chart=1F4B9",
   "cheese_wedge=1F9C0 chequered_flag,checkered_flag=1F3C1 cherries=1F352 cherry_blossom=1F338",
   "chess_pawn=265F chestnut=1F330 chicken=1F414 ~child=1F9D2 children_crossing=1F6B8",
   "chipmunk=1F43F chocolate_bar=1F36B chopsticks=1F962 church=26EA cigarette,smoking=1F6AC",
   "cinema=1F3A6 circled_m,m=24C2 circus_tent=1F3AA cityscape=1F3D9",
   "cityscape_at_dusk,city_sunset=1F306 clamp,compression=1F5DC clapper_board,clapper=1F3AC",
   "~clapping_hands,clap=1F44F classical_building=1F3DB clinking_beer_mugs,beers=1F37B",
   "clinking_glasses=1F942 clipboard=1F4CB clockwise_vertical_arrows,arrows_clockwise=1F503",
   "closed_book=1F4D5 closed_mailbox_with_lowered_flag,mailbox_closed=1F4EA",
   "closed_mailbox_with_raised_flag,mailbox=1F4EB closed_umbrella=1F302 cloud=2601",
   "cloud_with_lightning=1F329 cloud_with_lightning_and_rain,thunder_cloud_and_rain=26C8",
   "cloud_with_rain=1F327 cloud_with_snow=1F328 clown_face=1F921 club_suit,clubs=2663",
   "clutch_bag,pouch=1F45D coat=1F9E5 cocktail_glass,cocktail=1F378 coconut=1F965 coffin=26B0",
   "cold_face=1F976 collision,boom=1F4A5 comet=2604 compass=1F9ED computer_disk,minidisc=1F4BD",
   "computer_mouse,three_button_mouse=1F5B1 confetti_ball=1F38A confounded_face,confounded=1F616",
   "confused_face,confused=1F615 construction=1F6A7 ~construction_worker=1F477",
   "control_knobs=1F39B convenience_store=1F3EA cooked_rice,rice=1F35A cookie=1F36A",
   "cooking,egg=1F373 copyright=A9 couch_and_lamp=1F6CB",
   "counterclockwise_arrows_button,arrows_counterclockwise=1F504 couple_with_heart=1F491",
   "couple_with_heart_man_man=1F468-200D-2764-FE0F-200D-1F468",
   "couple_with_heart_woman_man=1F469-200D-2764-FE0F-200D-1F468",
   "couple_with_heart_woman_woman=1F469-200D-2764-FE0F-200D-1F469 cow,cow_face=1F42E",
   "cowboy_hat_face=1F920 crab=1F980 crayon,lower_left_crayon=1F58D credit_card=1F4B3",
   "crescent_moon=1F319 cricket=1F997 cricket_game,cricket_bat_and_ball=1F3CF crocodile=1F40A",
   "croissant=1F950 cross_mark,x=274C cross_mark_button,negative_squared_cross_mark=274E",
   "~crossed_fingers=1F91E crossed_flags=1F38C crossed_swords=2694 crown=1F451",
   "crying_cat_face=1F63F crying_face,cry=1F622 crystal_ball=1F52E cucumber=1F952 cupcake=1F9C1",
   "cup_with_straw=1F964 curling_stone=1F94C curly_hair=1F9B1 curly-haired_man=1F468-200D-1F9B1",
   "curly-haired_woman=1F469-200D-1F9B1 curly_loop=27B0 currency_exchange=1F4B1",
   "curry_rice,curry=1F35B custard=1F36E customs=1F6C3 cut_of_meat=1F969 cyclone=1F300",
   "dagger,dagger_knife=1F5E1 dango=1F361 dashing_away,dash=1F4A8 deaf_person=1F9CF",
   "deciduous_tree=1F333 deer=1F98C delivery_truck,truck=1F69A department_store=1F3EC",
   "derelict_house,derelict_house_building=1F3DA desert=1F3DC desert_island=1F3DD",
   "desktop_computer=1F5A5 ~detective,sleuth_or_spy=1F575 diamond_suit,diamonds=2666",
   "diamond_with_a_dot,diamond_shape_with_a_dot_inside=1F4A0 dim_button,low_brightness=1F505",
   "direct_hit,dart=1F3AF disappointed_face,disappointed=1F61E diving_mask=1F93F diya_lamp=1FA94",
   "dizzy=1F4AB dizzy_face=1F635 dna=1F9EC dog,dog_face=1F436 dollar_banknote,dollar=1F4B5",
   "dolphin,flipper=1F42C door=1F6AA dotted_six-pointed_star,six_pointed_star=1F52F",
   "double_curly_loop,loop=27BF double_exclamation_mark,bangbang=203C doughnut=1F369",
   "dove,dove_of_peace=1F54A down-left_arrow,arrow_lower_left=2199",
   "down-right_arrow,arrow_lower_right=2198 down_arrow,arrow_down=2B07",
   "downcast_face_with_sweat,sweat=1F613 downwards_button,arrow_down_small=1F53D dragon=1F409",
   "dragon_face=1F432 dress=1F457 drooling_face=1F924 drop_of_blood=1FA78 droplet=1F4A7",
   "drum=1F941 duck=1F986 dumpling=1F95F dvd=1F4C0 e-mail,e__mail=1F4E7 eagle=1F985 ~ear=1F442",
   "ear_of_corn,corn=1F33D ear_with_hearing_aid=1F9BB eggplant=1F346",
   "eight-pointed_star,eight_pointed_black_star=2734",
   "eight-spoked_asterisk,eight_spoked_asterisk=2733 eight-thirty,clock830=1F563",
   "eight_o’clock,clock8=1F557 eject_button,eject_symbol=23CF electric_plug=1F50C elephant=1F418",
   "eleven-thirty,clock1130=1F566 eleven_o’clock,clock11=1F55A ~elf=1F9DD envelope,email=2709",
   "envelope_with_arrow=1F4E9 euro_banknote,euro=1F4B6 evergreen_tree=1F332 ewe,sheep=1F411",
   "exclamation_mark,exclamation,heavy_exclamation_mark=2757",
   "exclamation_question_mark,interrobang=2049 exploding_head=1F92F",
   "expressionless_face,expressionless=1F611 eye=1F441",
   "eye_in_speech_bubble=1F441-FE0F-200D-1F5E8-FE0F eyes=1F440",
   "face_blowing_a_kiss,kissing_heart=1F618 face_savoring_food,yum=1F60B",
   "face_screaming_in_fear,scream=1F631 face_vomiting=1F92E face_with_hand_over_mouth=1F92D",
   "face_with_head-bandage,face_with_head__bandage=1F915 face_with_medical_mask,mask=1F637",
   "face_with_monocle=1F9D0 face_with_open_mouth,open_mouth=1F62E face_with_raised_eyebrow=1F928",
   "face_with_rolling_eyes=1F644 face_with_steam_from_nose,triumph=1F624",
   "face_with_symbols_on_mouth=1F92C face_with_tears_of_joy,joy=1F602 face_with_thermometer=1F912",
   "face_with_tongue,stuck_out_tongue=1F61B face_without_mouth,no_mouth=1F636 factory=1F3ED",
   "~fairy=1F9DA falafel=1F9C6 fallen_leaf=1F342 family=1F46A family_man_boy=1F468-200D-1F466",
   "family_man_boy_boy=1F468-200D-1F466-200D-1F466 family_man_girl=1F468-200D-1F467",
   "family_man_girl_boy=1F468-200D-1F467-200D-1F466",
   "family_man_girl_girl=1F468-200D-1F467-200D-1F467",
   "family_man_man_boy=1F468-200D-1F468-200D-1F466",
   "family_man_man_boy_boy=1F468-200D-1F468-200D-1F466-200D-1F466",
   "family_man_man_girl=1F468-200D-1F468-200D-1F467",
   "family_man_man_girl_boy=1F468-200D-1F468-200D-1F467-200D-1F466",
   "family_man_man_girl_girl=1F468-200D-1F468-200D-1F467-200D-1F467",
   "family_man_woman_boy=1F468-200D-1F469-200D-1F466",
   "family_man_woman_boy_boy=1F468-200D-1F469-200D-1F466-200D-1F466",
   "family_man_woman_girl=1F468-200D-1F469-200D-1F467",
   "family_man_woman_girl_boy=1F468-200D-1F469-200D-1F467-200D-1F466",
   "family_man_woman_girl_girl=1F468-200D-1F469-200D-1F467-200D-1F467",
   "family_woman_boy=1F469-200D-1F466 family_woman_boy_boy=1F469-200D-1F466-200D-1F466",
   "family_woman_girl=1F469-200D-1F467 family_woman_girl_boy=1F469-200D-1F467-200D-1F466",
   "family_woman_girl_girl=1F469-200D-1F467-200D-1F467",
   "family_woman_woman_boy=1F469-200D-1F469-200D-1F466",
   "family_woman_woman_boy_boy=1F469-200D-1F469-200D-1F466-200D-1F466",
   "family_woman_woman_girl=1F469-200D-1F469-200D-1F467",
   "family_woman_woman_girl_boy=1F469-200D-1F469-200D-1F467-200D-1F466",
   "family_woman_woman_girl_girl=1F469-200D-1F469-200D-1F467-200D-1F467",
   "fast-forward_button,fast_forward=23E9 fast_down_button,arrow_double_down=23EC",
   "fast_reverse_button,rewind=23EA fast_up_button,arrow_double_up=23EB fax_machine,fax=1F4E0",
   "fearful_face,fearful=1F628 female_sign=2640 ferris_wheel=1F3A1 ferry=26F4",
   "field_hockey,field_hockey_stick_and_ball=1F3D1 file_cabinet=1F5C4 file_folder=1F4C1",
   "film_frames=1F39E film_projector=1F4FD fire=1F525 fire_extinguisher=1F9EF firecracker=1F9E8",
   "fire_engine=1F692 fireworks=1F386 first_quarter_moon=1F313",
   "first_quarter_moon_face,first_quarter_moon_with_face=1F31B fish=1F41F",
   "fish_cake_with_swirl,fish_cake=1F365 fishing_pole,fishing_pole_and_fish=1F3A3",
   "five-thirty,clock530=1F560 five_o’clock,clock5=1F554 flag_in_hole,golf=26F3 flamingo=1F9A9",
   "flashlight=1F526 flat_shoe=1F97F fleur-de-lis,fleur__de__lis=269C ~flexed_biceps,muscle=1F4AA",
   "floppy_disk=1F4BE flower_playing_cards=1F3B4 flushed_face,flushed=1F633 flying_disc=1F94F",
   "flying_saucer=1F6F8 fog=1F32B foggy=1F301 ~folded_hands,pray=1F64F foot=1F9B6",
   "footprints=1F463 fork_and_knife=1F374 fork_and_knife_with_plate=1F37D fortune_cookie=1F960",
   "fountain=26F2 fountain_pen,lower_left_fountain_pen=1F58B four-thirty,clock430=1F55F",
   "four_leaf_clover=1F340 four_o’clock,clock4=1F553 fox_face=1F98A",
   "framed_picture,frame_with_picture=1F5BC french_fries,fries=1F35F fried_shrimp=1F364",
   "frog_face,frog=1F438 front-facing_baby_chick,hatched_chick=1F425",
   "frowning_face,white_frowning_face=2639 frowning_face_with_open_mouth,frowning=1F626",
   "fuel_pump,fuelpump=26FD full_moon=1F315 full_moon_face,full_moon_with_face=1F31D",
   "funeral_urn=26B1 game_die=1F3B2 garlic=1F9C4 gear=2699 gem_stone,gem=1F48E genie=1F9DE",
   "ghost=1F47B giraffe=1F992 ~girl=1F467 glass_of_milk=1F95B glasses,eyeglasses=1F453",
   "globe_showing_americas,earth_americas=1F30E globe_showing_asia-australia,earth_asia=1F30F",
   "globe_showing_europe-africa,earth_africa=1F30D globe_with_meridians=1F310 gloves=1F9E4",
   "glowing_star,star2=1F31F goal_net=1F945 goat=1F410 goblin,japanese_goblin=1F47A goggles=1F97D",
   "gorilla=1F98D graduation_cap,mortar_board=1F393 grapes=1F347 green_apple=1F34F",
   "green_book=1F4D7 green_circle=1F7E2 green_heart=1F49A green_salad=1F957 green_square=1F7E9",
   "grimacing_face,grimacing=1F62C grinning_cat_face,smiley_cat=1F63A",
   "grinning_cat_face_with_smiling_eyes,smile_cat=1F638 grinning_face,grinning=1F600",
   "grinning_face_with_big_eyes,smiley=1F603 grinning_face_with_smiling_eyes,smile=1F604",
   "grinning_face_with_sweat,sweat_smile=1F605 grinning_squinting_face,laughing,satisfied=1F606",
   "growing_heart,heartpulse=1F497 ~guard,guardsman=1F482 guide_dog=1F9AE guitar=1F3B8",
   "hamburger=1F354 hammer=1F528 hammer_and_pick=2692 hammer_and_wrench=1F6E0",
   "hamster_face,hamster=1F439 ~hand_with_fingers_splayed,raised_hand_with_fingers_splayed=1F590",
   "handbag=1F45C handshake=1F91D hatching_chick=1F423 headphone,headphones=1F3A7",
   "hear-no-evil_monkey,hear_no_evil=1F649 heart_decoration=1F49F heart_suit,hearts=2665",
   "heart_with_arrow,cupid=1F498 heart_with_ribbon,gift_heart=1F49D heavy_check_mark=2714",
   "heavy_division_sign=2797 heavy_dollar_sign=1F4B2",
   "heavy_heart_exclamation,heavy_heart_exclamation_mark_ornament=2763 heavy_large_circle,o=2B55",
   "heavy_minus_sign=2796 heavy_multiplication_x=2716 heavy_plus_sign=2795 hedgehog=1F994",
   "helicopter=1F681 herb=1F33F hibiscus=1F33A high-heeled_shoe,high_heel=1F460",
   "high-speed_train,bullettrain_side=1F684 high_voltage,zap=26A1 hiking_boot=1F97E",
   "hindu_temple=1F6D5 hippopotamus=1F99B hole=1F573 honey_pot=1F36F honeybee,bee=1F41D",
   "horizontal_traffic_light,traffic_light=1F6A5 horse,horse_face=1F434 ~horse_racing=1F3C7",
   "hospital=1F3E5 hot_beverage,coffee=2615 hot_dog=1F32D hot_face=1F975 hot_pepper=1F336",
   "hot_springs,hotsprings=2668 hotel=1F3E8 hourglass_done,hourglass=231B",
   "hourglass_not_done,hourglass_flowing_sand=23F3 house=1F3E0 house_with_garden=1F3E1",
   "houses,house_buildings=1F3D8 hugging_face=1F917 hundred_points,100=1F4AF",
   "hushed_face,hushed=1F62F ice=1F9CA ice_cream=1F368 ice_hockey,ice_hockey_stick_and_puck=1F3D2",
   "ice_skate=26F8 inbox_tray=1F4E5 incoming_envelope=1F4E8 ~index_pointing_up,point_up=261D",
   "infinity=267E information,information_source=2139 input_latin_letters,abc=1F524",
   "input_latin_lowercase,abcd=1F521 input_latin_uppercase,capital_abcd=1F520",
   "input_numbers,1234=1F522 input_symbols,symbols=1F523 jack-o-lantern,jack_o_lantern=1F383",
   "jeans=1F456 jigsaw=1F9E9 joker,black_joker=1F0CF joystick=1F579 kaaba=1F54B kangaroo=1F998",
   "key=1F511 keyboard=2328 keycap_#=23-FE0F-20E3 keycap_*=2A-FE0F-20E3",
   "keycap_0,zero=30-FE0F-20E3 keycap_1,one=31-FE0F-20E3 keycap_10,ten=1F51F",
   "keycap_2,two=32-FE0F-20E3 keycap_3,three=33-FE0F-20E3 keycap_4,four=34-FE0F-20E3",
   "keycap_5,five=35-FE0F-20E3 keycap_6,six=36-FE0F-20E3 keycap_7,seven=37-FE0F-20E3",
   "keycap_8,eight=38-FE0F-20E3 keycap_9,nine=39-FE0F-20E3 kick_scooter=1F6F4 kimono=1F458",
   "kiss,kiss_mark=1F48B kiss_man_man=1F468-200D-2764-FE0F-200D-1F48B-200D-1F468",
   "kiss_woman_man=1F469-200D-2764-FE0F-200D-1F48B-200D-1F468",
   "kiss_woman_woman=1F469-200D-2764-FE0F-200D-1F48B-200D-1F469",
   "kissing_cat_face,kissing_cat=1F63D kissing_face,kissing=1F617",
   "kissing_face_with_closed_eyes,kissing_closed_eyes=1F61A",
   "kissing_face_with_smiling_eyes,kissing_smiling_eyes=1F619 kitchen_knife,hocho,knife=1F52A",
   "kite=1FA81 kiwi_fruit=1F95D koala=1F428 lab_coat=1F97C label=1F3F7 lacrosse=1F94D",
   "lady_beetle,beetle=1F41E laptop_computer,computer=1F4BB large_blue_diamond=1F537",
   "large_orange_diamond=1F536 last_quarter_moon=1F317",
   "last_quarter_moon_face,last_quarter_moon_with_face=1F31C",
   "last_track_button,black_left__pointing_double_triangle_with_vertical_bar=23EE",
   "latin_cross=271D leaf_fluttering_in_wind,leaves=1F343 leafy_green=1F96C ledger=1F4D2",
   "~left-facing_fist=1F91B left-right_arrow,left_right_arrow=2194 left_arrow,arrow_left=2B05",
   "left_arrow_curving_right,arrow_right_hook=21AA left_luggage=1F6C5 left_speech_bubble=1F5E8",
   "leg=1F9B5 lemon=1F34B leopard=1F406 level_slider=1F39A light_bulb,bulb=1F4A1 light_rail=1F688",
   "link=1F517 linked_paperclips=1F587 lion_face=1F981 lipstick=1F484",
   "litter_in_bin_sign,put_litter_in_its_place=1F6AE lizard=1F98E llama=1F999 lobster=1F99E",
   "locked,lock=1F512 locked_with_key,closed_lock_with_key=1F510",
   "locked_with_pen,lock_with_ink_pen=1F50F locomotive,steam_locomotive=1F682 lollipop=1F36D",
   "lotion_bottle=1F9F4 loudly_crying_face,sob=1F62D loudspeaker=1F4E2 ~love-you_gesture=1F91F",
   "love_hotel=1F3E9 love_letter=1F48C luggage=1F9F3 lying_face=1F925 ~mage=1F9D9 magnet=1F9F2",
   "magnifying_glass_tilted_left,mag=1F50D magnifying_glass_tilted_right,mag_right=1F50E",
   "mahjong_red_dragon,mahjong=1F004 male_sign=2642 ~man=1F468",
   "man_and_woman_holding_hands,couple=1F46B ~man_artist=1F468-200D-1F3A8",
   "~man_astronaut=1F468-200D-1F680 ~man_biking=1F6B4-200D-2642-FE0F",
   "~man_bouncing_ball=26F9-FE0F-200D-2642-FE0F ~man_bowing=1F647-200D-2642-FE0F",
   "~man_cartwheeling=1F938-200D-2642-FE0F ~man_climbing=1F9D7-200D-2642-FE0F",
   "~man_construction_worker=1F477-200D-2642-FE0F ~man_cook=1F468-200D-1F373 ~man_dancing=1F57A",
   "~man_detective=1F575-FE0F-200D-2642-FE0F ~man_elf=1F9DD-200D-2642-FE0F",
   "~man_facepalming=1F926-200D-2642-FE0F ~man_factory_worker=1F468-200D-1F3ED",
   "~man_fairy=1F9DA-200D-2642-FE0F ~man_farmer=1F468-200D-1F33E",
   "~man_firefighter=1F468-200D-1F692 ~man_frowning=1F64D-200D-2642-FE0F",
   "man_genie=1F9DE-200D-2642-FE0F ~man_gesturing_no=1F645-200D-2642-FE0F",
   "~man_gesturing_ok=1F646-200D-2642-FE0F ~man_getting_haircut=1F487-200D-2642-FE0F",
   "~man_getting_massage=1F486-200D-2642-FE0F ~man_golfing=1F3CC-FE0F-200D-2642-FE0F",
   "~man_guard=1F482-200D-2642-FE0F ~man_health_worker=1F468-200D-2695-FE0F",
   "~man_in_lotus_position=1F9D8-200D-2642-FE0F man_in_manual_wheelchair=1F468-200D-1F9BD",
   "man_in_motorized_wheelchair=1F468-200D-1F9BC ~man_in_steamy_room=1F9D6-200D-2642-FE0F",
   "~man_in_suit_levitating,man_in_business_suit_levitating=1F574 ~man_in_tuxedo=1F935",
   "~man_judge=1F468-200D-2696-FE0F ~man_juggling=1F939-200D-2642-FE0F",
   "~man_lifting_weights=1F3CB-FE0F-200D-2642-FE0F ~man_mage=1F9D9-200D-2642-FE0F",
   "~man_mechanic=1F468-200D-1F527 ~man_mountain_biking=1F6B5-200D-2642-FE0F",
   "~man_office_worker=1F468-200D-1F4BC ~man_pilot=1F468-200D-2708-FE0F",
   "~man_playing_handball=1F93E-200D-2642-FE0F ~man_playing_water_polo=1F93D-200D-2642-FE0F",
   "~man_police_officer=1F46E-200D-2642-FE0F ~man_pouting=1F64E-200D-2642-FE0F",
   "~man_raising_hand=1F64B-200D-2642-FE0F ~man_rowing_boat=1F6A3-200D-2642-FE0F",
   "~man_running=1F3C3-200D-2642-FE0F ~man_scientist=1F468-200D-1F52C",
   "~man_shrugging=1F937-200D-2642-FE0F ~man_singer=1F468-200D-1F3A4",
   "~man_student=1F468-200D-1F393 ~man_surfing=1F3C4-200D-2642-FE0F",
   "~man_swimming=1F3CA-200D-2642-FE0F ~man_teacher=1F468-200D-1F3EB",
   "~man_technologist=1F468-200D-1F4BB ~man_tipping_hand=1F481-200D-2642-FE0F",
   "~man_vampire=1F9DB-200D-2642-FE0F ~man_walking=1F6B6-200D-2642-FE0F",
   "~man_wearing_turban=1F473-200D-2642-FE0F man_with_probing_cane=1F468-200D-1F9AF",
   "~man_with_chinese_cap,man_with_gua_pi_mao=1F472 man_zombie=1F9DF-200D-2642-FE0F mango=1F96D",
   "mantelpiece_clock=1F570 manual_wheelchair=1F9BD man’s_shoe,mans_shoe,shoe=1F45E",
   "maple_leaf=1F341 martial_arts_uniform=1F94B mate=1F9C9 meat_on_bone=1F356",
   "mechanical_arm=1F9BE mechanical_leg=1F9BF medical_symbol=2695 megaphone,mega=1F4E3",
   "melon=1F348 memo,pencil=1F4DD men_with_bunny_ears=1F46F-200D-2642-FE0F",
   "men_wrestling=1F93C-200D-2642-FE0F menorah,menorah_with_nine_branches=1F54E",
   "men’s_room,mens=1F6B9 ~mermaid=1F9DC-200D-2640-FE0F ~merman=1F9DC-200D-2642-FE0F",
   "~merperson=1F9DC metro=1F687 microbe=1F9A0 microphone=1F3A4 microscope=1F52C",
   "~middle_finger,reversed_hand_with_middle_finger_extended=1F595 military_medal=1F396",
   "milky_way=1F30C minibus=1F690 moai,moyai=1F5FF mobile_phone,iphone=1F4F1",
   "mobile_phone_off=1F4F4 mobile_phone_with_arrow,calling=1F4F2",
   "money-mouth_face,money__mouth_face=1F911 money_bag,moneybag=1F4B0 money_with_wings=1F4B8",
   "monkey=1F412 monkey_face=1F435 monorail=1F69D moon_cake=1F96E",
   "moon_viewing_ceremony,rice_scene=1F391 mosque=1F54C mosquito=1F99F motor_boat=1F6E5",
   "motor_scooter=1F6F5 motorcycle,racing_motorcycle=1F3CD motorized_wheelchair=1F9BC",
   "motorway=1F6E3 mount_fuji=1F5FB mountain=26F0 mountain_cableway=1F6A0 mountain_railway=1F69E",
   "mouse,mouse_face=1F42D mouth,lips=1F444 movie_camera=1F3A5 mushroom=1F344",
   "musical_keyboard=1F3B9 musical_note=1F3B5 musical_notes,notes=1F3B6 musical_score=1F3BC",
   "muted_speaker,mute=1F507 ~nail_polish,nail_care=1F485 name_badge=1F4DB national_park=1F3DE",
   "nauseated_face=1F922 nazar_amulet=1F9FF necktie=1F454 nerd_face=1F913 neutral_face=1F610",
   "new_moon=1F311 new_moon_face,new_moon_with_face=1F31A newspaper=1F4F0",
   "next_track_button,black_right__pointing_double_triangle_with_vertical_bar=23ED",
   "night_with_stars=1F303 nine-thirty,clock930=1F564 nine_o’clock,clock9=1F558 no_bicycles=1F6B3",
   "no_entry=26D4 no_littering,do_not_litter=1F6AF no_mobile_phones=1F4F5",
   "no_one_under_eighteen,underage=1F51E no_pedestrians=1F6B7 no_smoking=1F6AD",
   "non-potable_water,non__potable_water=1F6B1 ~nose=1F443 notebook=1F4D3",
   "notebook_with_decorative_cover=1F4D4 nut_and_bolt=1F529 octopus=1F419 oden=1F362",
   "office_building,office=1F3E2 ogre,japanese_ogre=1F479 oil_drum=1F6E2 old_key=1F5DD",
   "~old_man,older_man=1F474 ~old_woman,older_woman=1F475 ~older_adult=1F9D3 om,om_symbol=1F549",
   "oncoming_automobile=1F698 oncoming_bus=1F68D ~oncoming_fist,facepunch,punch=1F44A",
   "oncoming_police_car=1F694 oncoming_taxi=1F696 one-piece_swimsuit=1FA71",
   "one-thirty,clock130=1F55C one_o’clock,clock1=1F550 onion=1F9C5 open_book,book=1F4D6",
   "open_file_folder=1F4C2 ~open_hands=1F450",
   "open_mailbox_with_lowered_flag,mailbox_with_no_mail=1F4ED",
   "open_mailbox_with_raised_flag,mailbox_with_mail=1F4EC optical_disk,cd=1F4BF orange_book=1F4D9",
   "orange_circle=1F7E0 orange_heart=1F9E1 orange_square=1F7E7 orangutan=1F9A7",
   "orthodox_cross=2626 otter=1F9A6 outbox_tray=1F4E4 owl=1F989 ox=1F402 oyster=1F9AA",
   "package=1F4E6 page_facing_up=1F4C4 page_with_curl=1F4C3 pager=1F4DF",
   "paintbrush,lower_left_paintbrush=1F58C palm_tree=1F334 ~palms_up_together=1F932",
   "pancakes=1F95E panda_face=1F43C paperclip=1F4CE parrot=1F99C part_alternation_mark=303D",
   "party_popper,tada=1F389 partying_face=1F973 passenger_ship=1F6F3 passport_control=1F6C2",
   "pause_button,double_vertical_bar=23F8 paw_prints,feet=1F43E peace_symbol=262E peach=1F351",
   "peacock=1F99A peanuts=1F95C pear=1F350 pen,lower_left_ballpoint_pen=1F58A penguin=1F427",
   "pensive_face,pensive=1F614 people_holding_hands=1F9D1-200D-1F91D-200D-1F9D1",
   "people_with_bunny_ears,dancers=1F46F people_wrestling=1F93C performing_arts=1F3AD",
   "persevering_face,persevere=1F623 ~person_biking,bicyclist=1F6B4",
   "~person_bouncing_ball,person_with_ball=26F9 ~person_bowing,bow=1F647",
   "~person_cartwheeling=1F938 ~person_climbing=1F9D7 ~person_facepalming=1F926",
   "person_fencing=1F93A ~person_frowning=1F64D ~person_gesturing_no,no_good=1F645",
   "~person_gesturing_ok,ok_woman=1F646 ~person_getting_haircut,haircut=1F487",
   "~person_getting_massage,massage=1F486 ~person_golfing,golfer=1F3CC",
   "~person_in_bed,sleeping_accommodation=1F6CC ~person_in_lotus_position=1F9D8",
   "~person_in_steamy_room=1F9D6 ~person_juggling=1F939 person_kneeling=1F9CE",
   "~person_lifting_weights,weight_lifter=1F3CB ~person_mountain_biking,mountain_bicyclist=1F6B5",
   "~person_playing_handball=1F93E ~person_playing_water_polo=1F93D",
   "~person_pouting,person_with_pouting_face=1F64E ~person_raising_hand,raising_hand=1F64B",
   "~person_rowing_boat,rowboat=1F6A3 ~person_running,runner,running=1F3C3",
   "~person_shrugging=1F937 person_standing=1F9CD ~person_surfing,surfer=1F3C4",
   "~person_swimming,swimmer=1F3CA ~person_taking_bath,bath=1F6C0",
   "~person_tipping_hand,information_desk_person=1F481 ~person_walking,walking=1F6B6",
   "~person_wearing_turban,man_with_turban=1F473 petri_dish=1F9EB pick=26CF pie=1F967",
   "pig,pig_face=1F437 pig_nose=1F43D pile_of_poo,hankey,poop,shit=1F4A9 pill=1F48A",
   "pinching_hand=1F90F pine_decoration,bamboo=1F38D pineapple=1F34D",
   "ping_pong,table_tennis_paddle_and_ball=1F3D3 pirate_flag=1F3F4-200D-2620-FE0F",
   "pistol,gun=1F52B pizza=1F355 place_of_worship=1F6D0 play_button,arrow_forward=25B6",
   "play_or_pause_button,black_right__pointing_triangle_with_double_vertical_bar=23EF",
   "pleading_face=1F97A police_car=1F693 police_car_light,rotating_light=1F6A8",
   "~police_officer,cop=1F46E poodle=1F429 pool_8_ball,8ball=1F3B1 popcorn=1F37F",
   "postal_horn=1F4EF postbox=1F4EE pot_of_food,stew=1F372 potable_water=1F6B0 potato=1F954",
   "poultry_leg=1F357 pound_banknote,pound=1F4B7 pouting_cat_face,pouting_cat=1F63E",
   "pouting_face,rage=1F621 prayer_beads=1F4FF ~pregnant_woman=1F930 pretzel=1F968",
   "probing_cane=1F9AF ~prince=1F934 ~princess=1F478 printer=1F5A8 prohibited,no_entry_sign=1F6AB",
   "purple_circle=1F7E3 purple_heart=1F49C purple_square=1F7EA purse=1F45B pushpin=1F4CC",
   "question_mark,question=2753 rabbit,rabbit_face=1F430 raccoon=1F99D racing_car=1F3CE",
   "radio=1F4FB radio_button=1F518 radioactive,radioactive_sign=2622 railway_car=1F683",
   "railway_track=1F6E4 rainbow=1F308 rainbow_flag=1F3F3-FE0F-200D-1F308",
   "~raised_back_of_hand=1F91A ~raised_fist,fist=270A ~raised_hand,hand=270B",
   "~raising_hands,raised_hands=1F64C ram=1F40F rat=1F400 razor=1FA92 ringed_planet=1FA90",
   "receipt=1F9FE record_button,black_circle_for_record=23FA recycling_symbol,recycle=267B",
   "red_apple,apple=1F34E red_circle=1F534 red_envelope=1F9E7 red_hair=1F9B0",
   "red-haired_man=1F468-200D-1F9B0 red-haired_woman=1F469-200D-1F9B0 red_heart,heart=2764",
   "red_paper_lantern,izakaya_lantern,lantern=1F3EE red_square=1F7E5",
   "red_triangle_pointed_down,small_red_triangle_down=1F53B",
   "red_triangle_pointed_up,small_red_triangle=1F53A registered=AE relieved_face,relieved=1F60C",
   "reminder_ribbon=1F397 repeat_button,repeat=1F501 repeat_single_button,repeat_one=1F502",
   "rescue_worker’s_helmet,helmet_with_white_cross=26D1 restroom=1F6BB",
   "reverse_button,arrow_backward=25C0 revolving_hearts=1F49E rhinoceros=1F98F ribbon=1F380",
   "rice_ball=1F359 rice_cracker=1F358 ~right-facing_fist=1F91C right_anger_bubble=1F5EF",
   "right_arrow,arrow_right=27A1 right_arrow_curving_down,arrow_heading_down=2935",
   "right_arrow_curving_left,leftwards_arrow_with_hook=21A9",
   "right_arrow_curving_up,arrow_heading_up=2934 ring=1F48D",
   "roasted_sweet_potato,sweet_potato=1F360 robot_face,robot=1F916 rocket=1F680",
   "roll_of_paper=1F9FB rolled-up_newspaper,rolled__up_newspaper=1F5DE roller_coaster=1F3A2",
   "rolling_on_the_floor_laughing=1F923 rooster=1F413 rose=1F339 rosette=1F3F5",
   "round_pushpin=1F4CD rugby_football=1F3C9 running_shirt,running_shirt_with_sash=1F3BD",
   "running_shoe,athletic_shoe=1F45F sad_but_relieved_face,disappointed_relieved=1F625",
   "safety_pin=1F9F7 safety_vest=1F9BA salt=1F9C2 sailboat,boat=26F5 sake=1F376 sandwich=1F96A",
   "sari=1F97B satellite,satellite_antenna=1F4E1 sauropod=1F995 saxophone=1F3B7 scarf=1F9E3",
   "school=1F3EB school_backpack,school_satchel=1F392 scissors=2702 scorpion=1F982 scroll=1F4DC",
   "seat=1F4BA see-no-evil_monkey,see_no_evil=1F648 seedling=1F331 ~selfie=1F933",
   "service_dog=1F415-200D-1F9BA seven-thirty,clock730=1F562 seven_o’clock,clock7=1F556",
   "shallow_pan_of_food=1F958 shamrock=2618 shark=1F988 shaved_ice=1F367",
   "sheaf_of_rice,ear_of_rice=1F33E shield=1F6E1 shinto_shrine=26E9 ship=1F6A2",
   "shooting_star,stars=1F320 shopping_bags=1F6CD shopping_cart=1F6D2 shortcake,cake=1F370",
   "shorts=1FA73 shower=1F6BF shrimp=1F990 shuffle_tracks_button,twisted_rightwards_arrows=1F500",
   "shushing_face=1F92B ~sign_of_the_horns=1F918 six-thirty,clock630=1F561",
   "six_o’clock,clock6=1F555 skateboard=1F6F9 skier=26F7 skis,ski=1F3BF skull=1F480",
   "skull_and_crossbones=2620 skunk=1F9A8 sled=1F6F7 sleeping_face,sleeping=1F634",
   "sleepy_face,sleepy=1F62A slightly_frowning_face=1F641 slightly_smiling_face=1F642",
   "slot_machine=1F3B0 sloth=1F9A5 small_airplane=1F6E9 small_blue_diamond=1F539",
   "small_orange_diamond=1F538 smiling_cat_face_with_heart-eyes,heart_eyes_cat=1F63B",
   "smiling_face,relaxed=263A smiling_face_with_halo,innocent=1F607",
   "smiling_face_with_3_hearts=1F970 smiling_face_with_heart-eyes,heart_eyes=1F60D",
   "smiling_face_with_horns,smiling_imp=1F608 smiling_face_with_smiling_eyes,blush=1F60A",
   "smiling_face_with_sunglasses,sunglasses=1F60E smirking_face,smirk=1F60F snail=1F40C",
   "snake=1F40D sneezing_face=1F927 snow-capped_mountain,snow_capped_mountain=1F3D4",
   "~snowboarder=1F3C2 snowflake=2744 snowman=2603 snowman_without_snow=26C4 soap=1F9FC",
   "soccer_ball,soccer=26BD socks=1F9E6 softball=1F94E soft_ice_cream,icecream=1F366",
   "spade_suit,spades=2660 spaghetti=1F35D sparkle=2747 sparkler=1F387 sparkles=2728",
   "sparkling_heart=1F496 speak-no-evil_monkey,speak_no_evil=1F64A",
   "speaker_high_volume,loud_sound=1F50A speaker_low_volume,speaker=1F508",
   "speaker_medium_volume,sound=1F509 speaking_head,speaking_head_in_silhouette=1F5E3",
   "speech_balloon=1F4AC speedboat=1F6A4 spider=1F577 spider_web=1F578",
   "spiral_calendar,spiral_calendar_pad=1F5D3 spiral_notepad,spiral_note_pad=1F5D2",
   "spiral_shell,shell=1F41A spoon=1F944 sponge=1F9FD sport_utility_vehicle,blue_car=1F699",
   "sports_medal=1F3C5 spouting_whale,whale=1F433 squid=1F991",
   "squinting_face_with_tongue,stuck_out_tongue_closed_eyes=1F61D stadium=1F3DF star-struck=1F929",
   "star_and_crescent=262A star_of_david=2721 station=1F689 steaming_bowl,ramen=1F35C",
   "stethoscope=1FA7A stop_button,black_square_for_stop=23F9 stop_sign=1F6D1 stopwatch=23F1",
   "straight_ruler=1F4CF strawberry=1F353 studio_microphone=1F399 stuffed_flatbread=1F959",
   "sun,sunny=2600 sun_behind_cloud,partly_sunny=26C5",
   "sun_behind_large_cloud,white_sun_behind_cloud=1F325",
   "sun_behind_rain_cloud,white_sun_behind_cloud_with_rain=1F326",
   "sun_behind_small_cloud,white_sun_with_small_cloud=1F324 sun_with_face=1F31E sunflower=1F33B",
   "sunrise=1F305 sunrise_over_mountains=1F304 sunset,city_sunrise=1F307 superhero=1F9B8",
   "supervillain=1F9B9 sushi=1F363 suspension_railway=1F69F swan=1F9A2",
   "sweat_droplets,sweat_drops=1F4A6 synagogue=1F54D syringe=1F489 t-shirt,shirt,tshirt=1F455",
   "taco=1F32E takeout_box=1F961 tanabata_tree=1F38B tangerine=1F34A taxi=1F695",
   "teacup_without_handle,tea=1F375 teddy_bear=1F9F8 telephone,phone=260E",
   "telephone_receiver=1F4DE telescope=1F52D television,tv=1F4FA ten-thirty,clock1030=1F565",
   "ten_o’clock,clock10=1F559 tennis=1F3BE tent=26FA test_tube=1F9EA thermometer=1F321",
   "thinking_face=1F914 thought_balloon=1F4AD thread=1F9F5 three-thirty,clock330=1F55E",
   "three_o’clock,clock3=1F552 ~thumbs_down,__1,-1,thumbsdown=1F44E ~thumbs_up,+1,thumbsup=1F44D",
   "ticket=1F3AB tiger,tiger_face=1F42F timer_clock=23F2 tired_face=1F62B toolbox=1F9F0",
   "toilet=1F6BD tomato=1F345 tongue=1F445 tooth=1F9B7 top_hat,tophat=1F3A9",
   "tornado,cloud_with_tornado=1F32A trackball=1F5B2 tractor=1F69C trade_mark,tm=2122",
   "train,tram_car=1F68B tram=1F68A triangular_flag,triangular_flag_on_post=1F6A9",
   "triangular_ruler=1F4D0 trident_emblem,trident=1F531 trolleybus=1F68E trophy=1F3C6",
   "tropical_drink=1F379 tropical_fish=1F420 trumpet=1F3BA tulip=1F337 tumbler_glass=1F943",
   "turtle=1F422 twelve-thirty,clock1230=1F567 twelve_o’clock,clock12=1F55B",
   "two-thirty,clock230=1F55D two_hearts=1F495 two_men_holding_hands=1F46C",
   "two_o’clock,clock2=1F551 two_women_holding_hands=1F46D umbrella=2602 umbrella_on_ground=26F1",
   "umbrella_with_rain_drops=2614 unamused_face,unamused=1F612 unicorn_face=1F984",
   "unlocked,unlock=1F513 up-down_arrow,arrow_up_down=2195 up-left_arrow,arrow_upper_left=2196",
   "up-right_arrow,arrow_upper_right=2197 up_arrow,arrow_up=2B06",
   "upside-down_face,upside__down_face=1F643 upwards_button,arrow_up_small=1F53C ~vampire=1F9DB",
   "vertical_traffic_light=1F6A6 vibration_mode=1F4F3 ~victory_hand,v=270C video_camera=1F4F9",
   "video_game=1F3AE videocassette,vhs=1F4FC violin=1F3BB volcano=1F30B volleyball=1F3D0",
   "~vulcan_salute,raised_hand_with_part_between_middle_and_ring_fingers=1F596 waffle=1F9C7",
   "waning_crescent_moon=1F318 waning_gibbous_moon=1F316 warning=26A0 wastebasket=1F5D1",
   "watch=231A water_buffalo=1F403 water_closet,wc=1F6BE water_wave,ocean=1F30A watermelon=1F349",
   "~waving_hand,wave=1F44B wavy_dash=3030 waxing_crescent_moon=1F312",
   "waxing_gibbous_moon,moon=1F314 weary_cat_face,scream_cat=1F640 weary_face,weary=1F629",
   "wedding=1F492 wheel_of_dharma=2638 wheelchair_symbol,wheelchair=267F white_circle=26AA",
   "white_exclamation_mark,grey_exclamation=2755 white_flag,waving_white_flag=1F3F3",
   "white_flower=1F4AE white_hair=1F9B3 white-haired_man=1F468-200D-1F9B3",
   "white-haired_woman=1F469-200D-1F9B3 white_heart=1F90D",
   "white_heavy_check_mark,white_check_mark=2705 white_large_square=2B1C",
   "white_medium-small_square,white_medium_small_square=25FD white_medium_square=25FB",
   "white_medium_star,star=2B50 white_question_mark,grey_question=2754 white_small_square=25AB",
   "white_square_button=1F533 wilted_flower=1F940 wind_chime=1F390",
   "wind_face,wind_blowing_face=1F32C wine_glass=1F377 winking_face,wink=1F609",
   "winking_face_with_tongue,stuck_out_tongue_winking_eye=1F61C wolf_face,wolf=1F43A ~woman=1F469",
   "~woman_artist=1F469-200D-1F3A8 ~woman_astronaut=1F469-200D-1F680",
   "~woman_biking=1F6B4-200D-2640-FE0F ~woman_bouncing_ball=26F9-FE0F-200D-2640-FE0F",
   "~woman_bowing=1F647-200D-2640-FE0F ~woman_cartwheeling=1F938-200D-2640-FE0F",
   "~woman_climbing=1F9D7-200D-2640-FE0F ~woman_construction_worker=1F477-200D-2640-FE0F",
   "~woman_cook=1F469-200D-1F373 ~woman_dancing,dancer=1F483",
   "~woman_detective=1F575-FE0F-200D-2640-FE0F ~woman_elf=1F9DD-200D-2640-FE0F",
   "~woman_facepalming=1F926-200D-2640-FE0F ~woman_factory_worker=1F469-200D-1F3ED",
   "~woman_fairy=1F9DA-200D-2640-FE0F ~woman_farmer=1F469-200D-1F33E",
   "~woman_firefighter=1F469-200D-1F692 ~woman_frowning=1F64D-200D-2640-FE0F",
   "woman_genie=1F9DE-200D-2640-FE0F ~woman_gesturing_no=1F645-200D-2640-FE0F",
   "~woman_gesturing_ok=1F646-200D-2640-FE0F ~woman_getting_haircut=1F487-200D-2640-FE0F",
   "~woman_getting_massage=1F486-200D-2640-FE0F ~woman_golfing=1F3CC-FE0F-200D-2640-FE0F",
   "~woman_guard=1F482-200D-2640-FE0F ~woman_health_worker=1F469-200D-2695-FE0F",
   "~woman_in_lotus_position=1F9D8-200D-2640-FE0F woman_in_manual_wheelchair=1F469-200D-1F9BD",
   "woman_in_motorized_wheelchair=1F469-200D-1F9BC ~woman_in_steamy_room=1F9D6-200D-2640-FE0F",
   "~woman_judge=1F469-200D-2696-FE0F ~woman_juggling=1F939-200D-2640-FE0F",
   "~woman_lifting_weights=1F3CB-FE0F-200D-2640-FE0F ~woman_mage=1F9D9-200D-2640-FE0F",
   "~woman_mechanic=1F469-200D-1F527 ~woman_mountain_biking=1F6B5-200D-2640-FE0F",
   "~woman_office_worker=1F469-200D-1F4BC ~woman_pilot=1F469-200D-2708-FE0F",
   "~woman_playing_handball=1F93E-200D-2640-FE0F ~woman_playing_water_polo=1F93D-200D-2640-FE0F",
   "~woman_police_officer=1F46E-200D-2640-FE0F ~woman_pouting=1F64E-200D-2640-FE0F",
   "~woman_raising_hand=1F64B-200D-2640-FE0F ~woman_rowing_boat=1F6A3-200D-2640-FE0F",
   "~woman_running=1F3C3-200D-2640-FE0F ~woman_scientist=1F469-200D-1F52C",
   "~woman_shrugging=1F937-200D-2640-FE0F ~woman_singer=1F469-200D-1F3A4",
   "~woman_student=1F469-200D-1F393 ~woman_surfing=1F3C4-200D-2640-FE0F",
   "~woman_swimming=1F3CA-200D-2640-FE0F ~woman_teacher=1F469-200D-1F3EB",
   "~woman_technologist=1F469-200D-1F4BB ~woman_tipping_hand=1F481-200D-2640-FE0F",
   "~woman_vampire=1F9DB-200D-2640-FE0F ~woman_walking=1F6B6-200D-2640-FE0F",
   "~woman_wearing_turban=1F473-200D-2640-FE0F ~woman_with_headscarf=1F9D5",
   "woman_with_probing_cane=1F469-200D-1F9AF woman_zombie=1F9DF-200D-2640-FE0F",
   "woman’s_boot,boot=1F462 woman’s_clothes,womans_clothes=1F45A woman’s_hat,womans_hat=1F452",
   "woman’s_sandal,sandal=1F461 women_with_bunny_ears=1F46F-200D-2640-FE0F",
   "women_wrestling=1F93C-200D-2640-FE0F women’s_room,womens=1F6BA woozy_face=1F974",
   "world_map=1F5FA worried_face,worried=1F61F wrapped_gift,gift=1F381 wrench=1F527",
   "~writing_hand=270D yarn=1F9F6 yawning_face=1F971 yellow_circle=1F7E1 yellow_heart=1F49B",
   "yellow_square=1F7E8 yen_banknote,yen=1F4B4 yo-yo=1FA80 yin_yang=262F zany_face=1F92A",
   "zebra=1F993 zipper-mouth_face,zipper__mouth_face=1F910 zombie=1F9DF zzz=1F4A4",
   "keycap_asterisk=2A-20E3 keycap_digit_eight=38-20E3 keycap_digit_five=35-20E3",
   "keycap_digit_four=34-20E3 keycap_digit_nine=39-20E3 keycap_digit_one=31-20E3",
   "keycap_digit_seven=37-20E3 keycap_digit_six=36-20E3 keycap_digit_three=33-20E3",
   "keycap_digit_two=32-20E3 keycap_digit_zero=30-20E3 keycap_number_sign=23-20E3",
   "light_skin_tone,emoji_modifier_fitzpatrick_type__1__2=1F3FB",
   "medium_light_skin_tone,emoji_modifier_fitzpatrick_type__3=1F3FC",
   "medium_skin_tone,emoji_modifier_fitzpatrick_type__4=1F3FD",
   "medium_dark_skin_tone,emoji_modifier_fitzpatrick_type__5=1F3FE",
   "dark_skin_tone,emoji_modifier_fitzpatrick_type__6=1F3FF",
   "regional_indicator_symbol_letter_a,regional_indicator_a=1F1E6",
   "regional_indicator_symbol_letter_b,regional_indicator_b=1F1E7",
   "regional_indicator_symbol_letter_c,regional_indicator_c=1F1E8",
   "regional_indicator_symbol_letter_d,regional_indicator_d=1F1E9",
   "regional_indicator_symbol_letter_e,regional_indicator_e=1F1EA",
   "regional_indicator_symbol_letter_f,regional_indicator_f=1F1EB",
   "regional_indicator_symbol_letter_g,regional_indicator_g=1F1EC",
   "regional_indicator_symbol_letter_h,regional_indicator_h=1F1ED",
   "regional_indicator_symbol_letter_i,regional_indicator_i=1F1EE",
   "regional_indicator_symbol_letter_j,regional_indicator_j=1F1EF",
   "regional_indicator_symbol_letter_k,regional_indicator_k=1F1F0",
   "regional_indicator_symbol_letter_l,regional_indicator_l=1F1F1",
   "regional_indicator_symbol_letter_m,regional_indicator_m=1F1F2",
   "regional_indicator_symbol_letter_n,regional_indicator_n=1F1F3",
   "regional_indicator_symbol_letter_o,regional_indicator_o=1F1F4",
   "regional_indicator_symbol_letter_p,regional_indicator_p=1F1F5",
   "regional_indicator_symbol_letter_q,regional_indicator_q=1F1F6",
   "regional_indicator_symbol_letter_r,regional_indicator_r=1F1F7",
   "regional_indicator_symbol_letter_s,regional_indicator_s=1F1F8",
   "regional_indicator_symbol_letter_t,regional_indicator_t=1F1F9",
   "regional_indicator_symbol_letter_u,regional_indicator_u=1F1FA",
   "regional_indicator_symbol_letter_v,regional_indicator_v=1F1FB",
   "regional_indicator_symbol_letter_w,regional_indicator_w=1F1FC",
   "regional_indicator_symbol_letter_x,regional_indicator_x=1F1FD",
   "regional_indicator_symbol_letter_y,regional_indicator_y=1F1FE",
   "regional_indicator_symbol_letter_z,regional_indicator_z=1F1FF date=1F4C5 cat2=1F408",
   "cow2=1F404 dark_sunglasses=1F576 dog2=1F415 dromedary_camel=1F42A european_post_office=1F3E4",
   "flag_for_japan=1F1EF-1F1F5 flag_for_turkey=1F1F9-1F1F7 helm_symbol=2388 racehorse=1F40E",
   "couplekiss=1F48F mouse2=1F401 pencil2=270F pig2=1F416 rabbit2=1F407 tiger2=1F405 train2=1F686",
   "whale2=1F40B"]

/-- The names of regions and their codes of two letters. -/
def regionRows : List String :=
  ["afghanistan=AF albania=AL algeria=DZ american_samoa=AS andorra=AD angola=AO anguilla=AI",
   "antarctica=AQ antigua_&_barbuda=AG argentina=AR armenia=AM aruba=AW ascension_island=AC",
   "australia=AU austria=AT azerbaijan=AZ bahamas=BS bahrain=BH bangladesh=BD barbados=BB",
   "belarus=BY belgium=BE belize=BZ benin=BJ bermuda=BM bhutan=BT bolivia=BO",
   "bosnia_&_herzegovina=BA botswana=BW bouvet_island=BV brazil=BR",
   "british_indian_ocean_territory=IO british_virgin_islands=VG brunei=BN bulgaria=BG",
   "burkina_faso=BF burundi=BI cambodia=KH cameroon=CM canada=CA canary_islands=IC cape_verde=CV",
   "caribbean_netherlands=BQ cayman_islands=KY central_african_republic=CF ceuta_&_melilla=EA",
   "chad=TD chile=CL china=CN christmas_island=CX clipperton_island=CP colombia=CO comoros=KM",
   "cook_islands=CK costa_rica=CR croatia=HR cuba=CU curaçao=CW cyprus=CY côte_d’ivoire=CI",
   "denmark=DK diego_garcia=DG djibouti=DJ dominica=DM dominican_republic=DO ecuador=EC egypt=EG",
   "el_salvador=SV equatorial_guinea=GQ eritrea=ER estonia=EE ethiopia=ET european_union=EU",
   "falkland_islands=FK faroe_islands=FO fiji=FJ finland=FI france=FR french_guiana=GF",
   "french_polynesia=PF french_southern_territories=TF gabon=GA gambia=GM georgia=GE germany=DE",
   "ghana=GH gibraltar=GI greece=GR greenland=GL grenada=GD guadeloupe=GP guam=GU guatemala=GT",
   "guernsey=GG guinea=GN guyana=GY haiti=HT heard_&_mcdonald_islands=HM honduras=HN hungary=HU",
   "iceland=IS india=IN indonesia=ID iran=IR iraq=IQ ireland=IE isle_of_man=IM israel=IL italy=IT",
   "jamaica=JM jersey=JE jordan=JO kazakhstan=KZ kenya=KE kiribati=KI kosovo=XK kuwait=KW",
   "kyrgyzstan=KG laos=LA latvia=LV lebanon=LB lesotho=LS liberia=LR libya=LY liechtenstein=LI",
   "lithuania=LT luxembourg=LU macedonia=MK madagascar=MG malawi=MW malaysia=MY maldives=MV",
   "mali=ML malta=MT marshall_islands=MH martinique=MQ mauritania=MR mauritius=MU mayotte=YT",
   "mexico=MX micronesia=FM moldova=MD monaco=MC mongolia=MN montenegro=ME montserrat=MS",
   "morocco=MA mozambique=MZ namibia=NA nauru=NR nepal=NP netherlands=NL new_caledonia=NC",
   "new_zealand=NZ nicaragua=NI niger=NE nigeria=NG niue=NU norfolk_island=NF north_korea=KP",
   "northern_mariana_islands=MP norway=NO oman=OM pakistan=PK palau=PW palestinian_territories=PS",
   "panama=PA papua_new_guinea=PG paraguay=PY peru=PE philippines=PH pitcairn_islands=PN",
   "poland=PL portugal=PT puerto_rico=PR qatar=QA romania=RO russia=RU rwanda=RW réunion=RE",
   "samoa=WS san_marino=SM saudi_arabia=SA senegal=SN serbia=RS seychelles=SC sierra_leone=SL",
   "singapore=SG sint_maarten=SX slovakia=SK slovenia=SI solomon_islands=SB somalia=SO",
   "south_africa=ZA south_georgia_&_south_sandwich_islands=GS south_korea=KR south_sudan=SS",
   "spain=ES sri_lanka=LK st._barthélemy=BL st._helena=SH st._kitts_&_nevis=KN st._lucia=LC",
   "st._martin=MF st._pierre_&_miquelon=PM st._vincent_&_grenadines=VC sudan=SD suriname=SR",
   "svalbard_&_jan_mayen=SJ swaziland=SZ sweden=SE switzerland=CH syria=SY são_tomé_&_príncipe=ST",
   "taiwan=TW tajikistan=TJ tanzania=TZ thailand=TH togo=TG tokelau=TK tonga=TO",
   "trinidad_&_tobago=TT tristan_da_cunha=TA tunisia=TN turkmenistan=TM turks_&_caicos_islands=TC",
   "tuvalu=TV u.s._outlying_islands=UM u.s._virgin_islands=VI uganda=UG ukraine=UA",
   "united_arab_emirates=AE united_kingdom=GB united_states=US uruguay=UY uzbekistan=UZ",
   "vanuatu=VU vatican_city=VA venezuela=VE vietnam=VN wallis_&_futuna=WF western_sahara=EH",
   "yemen=YE zambia=ZM zimbabwe=ZW åland_islands=AX"]

end Typings.Console
